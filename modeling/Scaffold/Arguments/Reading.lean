import Scaffold.Arguments.Grammar
import Scaffold.Text.Digit

/-! # Reading arguments

Each argument is marked first: as a word, as an option, or as neither. Then options are taken where
they stand, and the words between them fill the slots. What belongs to nothing is kept apart.
-/

namespace Scaffold.Arguments

/-- An option with the name that it was found under, and what is written behind it. -/
structure Match where
  name : String
  option : Opt
  tail : List Char
  deriving DecidableEq, Repr

/-- What an argument looks like. The first `--` is a separator: all that follows are words. A
stranger looks like an option, but none has that name. -/
inductive Mark
  | word
  | separator
  | option (m : Match)
  | stranger
  deriving DecidableEq, Repr

structure Argument where
  text : String
  mark : Mark
  deriving DecidableEq, Repr

/-- A number below zero, which is a word although it starts with a dash. -/
def isNegativeNumber (cs : List Char) : Bool :=
  let isDigit (c : Char) : Bool := (Text.digitValue? c).isSome
  match cs with
  | '-' :: cs =>
    let (whole, rest) := ((Text.before? ['\n'] cs).getD cs).span isDigit
    match rest with
    | [] => whole ≠ []
    | '.' :: digits => digits ≠ [] && digits.all isDigit
    | _ => false
  | _ => false

/-- The options that share an argument: those that take no word, and maybe one that does, with the
word that is attached to it. Letters that are no option are a stranger. -/
structure Cluster where
  flags : List Opt := []
  taker : Option (Opt × Option String) := none
  stranger : Option String := none
  deriving DecidableEq, Repr

namespace Grammar

/-- Every name of an option, with the option. -/
def named (g : Grammar) : List (String × Opt) :=
  g.options.flatMap fun o => o.names.map fun name => (name, o)

/-- A name, and the rest from an equals sign on. -/
def splitName (cs : List Char) : List Char × List Char := cs.span (· ≠ '=')

/-- An option's full name, alone or with an equals sign and a value. -/
def assigned? (g : Grammar) (cs : List Char) : Option Match :=
  let (name, tail) := splitName cs
  let name := String.ofList name
  (g.option? name).map fun o => ⟨name, o, tail⟩

/-- The options that an argument may be short for. A long name may be cut off anywhere; a short one
may have a value right behind it. -/
def candidates (g : Grammar) (cs : List Char) : List Match :=
  match cs with
  | '-' :: '-' :: _ =>
    let (start, tail) := splitName cs
    (g.named.filter fun e => start.isPrefixOf e.1.toList).map fun e => ⟨e.1, e.2, tail⟩
  | _ =>
    g.named.filterMap fun e =>
      if e.1.toList = cs.take 2 then some ⟨e.1, e.2, cs.drop 2⟩
      else if cs.isPrefixOf e.1.toList then some ⟨e.1, e.2, []⟩
      else none

/-- The mark of an argument before the separator. -/
def mark (g : Grammar) (argument : String) : Except Problem Mark :=
  let cs := argument.toList
  if cs.head? ≠ some '-' ∨ cs = ['-'] then .ok .word
  else
    match g.assigned? cs with
    | some m => .ok (.option m)
    | none =>
      match g.candidates cs with
      | [m] => .ok (.option m)
      | [] => .ok (if isNegativeNumber cs || cs.contains ' ' then .word else .stranger)
      | ms => .error (.ambiguous argument (ms.map Match.name))

def markAll (g : Grammar) : List String → Except Problem (List Argument)
  | [] => .ok []
  | a :: rest =>
    if a = "--" then .ok (⟨a, .separator⟩ :: rest.map fun r => ⟨r, .word⟩)
    else do
      let m ← g.mark a
      return ⟨a, m⟩ :: (← g.markAll rest)

/-- The options of one argument. An option that takes no word may be followed by the letter of
another one, and so on; an equals sign or a dash cannot follow it. -/
def unfold (g : Grammar) (o : Opt) : List Char → Except Problem Cluster
  | [] => .ok (if o.takesWord then { taker := some (o, none) } else { flags := [o] })
  | c :: cs =>
    if o.takesWord then
      .ok { taker := some (o, some (String.ofList (if c = '=' then cs else c :: cs))) }
    else if c = '=' then .error (.wordUnused o (String.ofList cs))
    else if c = '-' then .error (.wordUnused o (String.ofList (c :: cs)))
    else
      match g.option? (String.ofList ['-', c]) with
      | none => .ok { flags := [o], stranger := some (String.ofList ('-' :: c :: cs)) }
      | some next => do
        let cluster ← g.unfold next cs
        return { cluster with flags := o :: cluster.flags }

end Grammar

/-- What has been read: the words of options and slots by name, and what belongs to nothing. -/
structure Reading where
  values : List (String × List String) := []
  /-- The slots that are still to be filled. -/
  pending : List Slot
  strangers : List String := []
  deriving DecidableEq, Repr

/-- Why there is nothing to run. -/
inductive Stop
  | help (g : Grammar)
  | problem (g : Grammar) (p : Problem)
  deriving DecidableEq, Repr

namespace Slot

/-- The words of a slot from the front of the arguments, and the arguments after them. A separator
next to a word goes with it; of a single word's separators one is dropped. -/
def take? (s : Slot) (args : List Argument) : Option (List String × List Argument) :=
  let (lead, others) := args.span (·.mark = .separator)
  match s.span, others with
  | .rest, _ => some (args.map Argument.text, [])
  | _, [] => none
  | .command, a :: _ => if a.mark = .word then some (args.map Argument.text, []) else none
  | .one, a :: others =>
    if a.mark = .word then
      let (trail, others) := others.span (·.mark = .separator)
      some (((lead ++ a :: trail).map Argument.text).erase "--", others)
    else none

def check (s : Slot) (words : List String) : Except Problem Unit :=
  match words with
  | [] => .ok ()
  | w :: _ =>
    if s.choices = [] ∨ (s.choices.lookup w).isSome then .ok () else .error (.notAChoice s w)

end Slot

namespace Reading

def put (r : Reading) (name : String) (words : List String) : Reading :=
  { r with values := r.values ++ [(name, words)] }

/-- Fills as many slots as the arguments in front have words for. -/
def fillFrom (r : Reading) (args : List Argument) :
    List Slot → Except Problem (Reading × List Argument)
  | [] => .ok ({ r with pending := [] }, args)
  | s :: slots =>
    match s.take? args with
    | none => .ok ({ r with pending := s :: slots }, args)
    | some (words, rest) => do
      s.check words
      (r.put s.name words).fillFrom rest slots

def fill (r : Reading) (args : List Argument) : Except Problem (Reading × List Argument) :=
  r.fillFrom args r.pending

end Reading

namespace Grammar

/-- The word for an option that takes one: attached to it, or else in the next argument. Says how
many arguments were needed. -/
def wordFor (o : Opt) (attached : Option String) (args : List Argument) :
    Except Problem (String × Nat) :=
  match attached, args with
  | some word, _ => .ok (word, 0)
  | none, a :: _ => if a.mark = .word then .ok (a.text, 1) else .error (.wordMissing o)
  | none, [] => .error (.wordMissing o)

/-- Takes the options of an argument; `args` follow it. Says how many of them were taken too. -/
def takeOption (g : Grammar) (r : Reading) (m : Match) (args : List Argument) :
    Except Stop (Reading × Nat) := do
  let cluster ← (g.unfold m.option m.tail).mapError (Stop.problem g)
  let taken ←
    match cluster.taker with
    | none => pure none
    | some (o, attached) => some <$> (wordFor o attached args).mapError (Stop.problem g)
  if cluster.flags.any fun o => o.role = .help then throw (.help g)
  let r := cluster.flags.foldl (fun r o => r.put o.key []) r
  let r := { r with strangers := r.strangers ++ cluster.stranger.toList }
  match cluster.taker, taken with
  | some (o, _), some (word, n) => return (r.put o.key [word], n)
  | _, _ => return (r, 0)

/-- Reads the arguments from `args` on. -/
def readFrom (g : Grammar) (r : Reading) (args : List Argument) : Except Stop Reading := do
  let finish : Except Stop Reading := do
    let (r, rest) ← (r.fill args).mapError (Stop.problem g)
    if r.pending ≠ [] then
      throw (.problem g (.unfilled (r.pending.map Slot.name)))
    return { r with strangers := r.strangers ++ rest.map Argument.text }
  if args.all fun a => a.mark = .word ∨ a.mark = .separator then finish
  else
    match args with
    | [] => finish
    | a :: rest =>
      let stray : Reading := { r with strangers := r.strangers ++ [a.text] }
      match a.mark with
      | .option m => do
        let (r, taken) ← g.takeOption r m rest
        g.readFrom r (rest.drop taken)
      | .stranger => g.readFrom stray rest
      | .word | .separator => do
        let (r, left) ← (r.fill (a :: rest)).mapError (Stop.problem g)
        if left.length < (a :: rest).length then g.readFrom r left
        else g.readFrom stray rest
termination_by args.length
decreasing_by
  · simp only [List.length_drop, List.length_cons]
    omega
  · exact Nat.lt_succ_self rest.length
  · assumption
  · exact Nat.lt_succ_self rest.length

/-- Reads arguments, and keeps apart what the grammar has no place for. -/
def readKnown (g : Grammar) (arguments : List String) : Except Stop Reading := do
  let args ← (g.markAll arguments).mapError (Stop.problem g)
  g.readFrom { pending := g.slots } args

/-- A reading that has no strangers. -/
def settle (g : Grammar) (r : Reading) : Except Stop Reading :=
  if r.strangers = [] then .ok r else .error (.problem g (.unrecognized r.strangers))

def read (g : Grammar) (arguments : List String) : Except Stop Reading := do
  g.settle (← g.readKnown arguments)

end Grammar

namespace Reading

/-- The words of the last option or slot of a name. -/
def words? (r : Reading) (name : String) : Option (List String) :=
  (r.values.reverse.find? fun e => e.1 = name).map Prod.snd

def word? (r : Reading) (name : String) : Option String := (r.words? name).bind List.head?

def isSet (r : Reading) (name : String) : Bool := (r.words? name).isSome

/-- Whether a slot got nothing but a separator, after the one that ends the options. -/
def isBlank (r : Reading) (name : String) : Bool := r.words? name = some []

end Reading

end Scaffold.Arguments
