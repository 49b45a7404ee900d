import Scaffold.Calendar
import Scaffold.Notice
import Scaffold.Text.Casing
import Scaffold.Text.Charset
import Scaffold.Text.Digit
import Scaffold.Text.Quoted
import Scaffold.Text.Split
import Scaffold.Text.Utf8

/-! # Failures

Every way in which an operation can fail, by cause. A complaint is worded for the user and ends a
command with an exit code; a fault is not expected and is left to whoever runs the command.
-/

namespace Scaffold

/-- The form that a name was required to have. -/
inductive NameRule
  | identifier
  | typeName
  | routePath
  deriving DecidableEq, Repr

/-- An input that a generator cannot do without. -/
inductive Missing
  | tableColumns
  | migrationColumns
  | fields
  deriving DecidableEq, Repr

inductive TemplateTrouble
  | notFound
  | undefinedVariable (name : String)
  | undefinedMember (owner member : String)
  deriving DecidableEq, Repr

inductive SettingsTrouble
  | unreadable (reason : String)
  | malformed (detail : String)
  | rootKind
  | sectionKind (key : String)
  | projectName (value : String)
  | projectType (value : String)
  deriving DecidableEq, Repr

inductive Complaint
  | illFormed (value role : String) (rule : NameRule)
  | projectName (value : String)
  | workerName (value : String)
  | unknownChoice (what plural value : String) (valid : List String)
  | missing (what : Missing)
  | outsideBase (path : String)
  | columnShape (definition : String)
  | columnBlank (definition : String)
  | columnModifier (modifier definition : String)
  | template (key : String) (trouble : TemplateTrouble)
  | settings (path : String) (trouble : SettingsTrouble)
  deriving DecidableEq, Repr

/-- What the operating system answers when a path cannot be used. -/
inductive SystemError
  | missing
  | present
  | notADirectory
  | isADirectory
  | tooManyLinks
  deriving DecidableEq, Repr

inductive Fault
  | system (error : SystemError) (path : String)
  | nullInPath
  | linkLoop (path : String)
  | malformedUtf8 (m : Text.Malformed)
  | unencodable (e : Text.Unencodable)
  | calendar (error : CalendarError)
  | notANumber (base : Nat) (text : String)
  | notAFloat (text : String)
  | emptyNumber
  /-- A text of so many digits is too long for a number. -/
  | longDigits (digits : Nat)
  | longNumber
  | hugeFactor
  | notATruth (text : String)
  | notATimestamp
  | codePoint
  | hugeCodePoint
  | notText (found : String)
  | notHashable (found : String)
  | notIterable (found : String)
  | noMember (found member : String)
  | reservedVariable (name : String)
  /-- The stack is used up. -/
  | exhausted
  deriving DecidableEq, Repr

inductive Failure
  | complaint (c : Complaint)
  | fault (f : Fault)
  deriving DecidableEq, Repr

instance : Coe Complaint Failure := ⟨.complaint⟩
instance : Coe Fault Failure := ⟨.fault⟩

def nameLetters : String :=
  "must start with a letter and contain only letters, numbers, hyphens, and underscores."

namespace NameRule

def hint (role : String) (rule : NameRule) : String :=
  let role := String.ofList (Text.capitalize role.toList)
  match rule with
  | identifier =>
    s!"{role} must start with a letter or underscore, " ++
      "and contain only letters, numbers, and underscores."
  | typeName => s!"{role} must be a Dart type such as String, int? or Map<String, dynamic>."
  | routePath =>
    "Route path must start with / and contain only letters, numbers, " ++
      "underscores, hyphens, slashes and :params."

end NameRule

namespace Missing

def message : Missing → String
  | tableColumns => "Columns specification required for table generation"
  | migrationColumns => "Columns specification required"
  | fields => "Fields specification required for Freezed generation"

def hint : Missing → String
  | tableColumns => "Use --columns \"id:int:pk,title:text,userId:uuid:fk(auth.users)\""
  | migrationColumns => "Use --columns \"id:uuid:pk,title:text,user_id:uuid:fk(auth.users)\""
  | fields => "Use --fields \"id:String,name:String,email:String?\""

end Missing

namespace TemplateTrouble

def reason : TemplateTrouble → String
  | notFound => "not found"
  | undefinedVariable name => s!"'{name}' is undefined"
  | undefinedMember owner member => s!"'{owner}' has no attribute '{member}'"

end TemplateTrouble

def projectTypes : List String := ["dart", "flutter", "other"]

namespace SettingsTrouble

def message : SettingsTrouble → String
  | unreadable reason => s!"Failed to read project config: {reason}"
  | malformed detail => s!"Invalid YAML: {detail}"
  | rootKind => "Config root must be a mapping"
  | sectionKind key => s!"'{key}' must be a mapping"
  | projectName value => s!"Invalid project name: \"{value}\""
  | projectType value => s!"Unknown project type '{value}'"

def hint : SettingsTrouble → String
  | unreadable _ => "Check file permissions"
  | malformed _ | rootKind => "Check the YAML syntax in your saas.yaml file"
  | sectionKind _ => "Check the structure of your saas.yaml file"
  | projectName _ => "Project name " ++ nameLetters
  | projectType _ => s!"Valid types: {Text.commaList projectTypes}"

end SettingsTrouble

namespace Complaint

def columnFormat : String :=
  "Format: name:type[:modifiers] (e.g., id:int:pk, title:text, userId:uuid:fk(auth.users.id))"

def validModifiers : String :=
  "Valid modifiers: pk, fk(table.column), nullable, default(value), autoincrement"

def notice : Complaint → Notice
  | illFormed value role rule => .name value role (rule.hint role)
  | projectName value =>
    .general s!"Invalid project name: \"{value}\"" 1 (some ("Project name " ++ nameLetters))
  | workerName value =>
    .general s!"Invalid worker name: \"{value}\"" 1 <| some <|
      "Worker name must start with a letter and contain only letters, " ++
        "numbers, and hyphens (no underscores)."
  | unknownChoice what plural value valid =>
    .general s!"Invalid {what}: \"{value}\"" 2 (some s!"Valid {plural}: {Text.commaList valid}")
  | missing what => .general what.message 2 (some what.hint)
  | outsideBase path =>
    .general s!"Output path escapes project directory: \"{path}\"" 1 <| some <|
      "Output path must be within the current project directory. " ++
        "Use relative paths like \"./lib/output.dart\"."
  | columnShape definition =>
    .column s!"Invalid column definition: \"{definition}\"" definition (some columnFormat)
  | columnBlank definition =>
    .column s!"Missing name or type in column: \"{definition}\"" definition
      (some "Each column must have a name and type")
  | columnModifier modifier definition =>
    .column s!"Unknown modifier: \"{modifier}\"" definition (some validModifiers)
  | template key trouble => .template key trouble.reason
  | settings path trouble => .settings trouble.message (some trouble.hint) (some path)

end Complaint

namespace SystemError

def number : SystemError → Nat
  | missing => 2
  | present => 17
  | notADirectory => 20
  | isADirectory => 21
  | tooManyLinks => 40

def words : SystemError → String
  | missing => "No such file or directory"
  | present => "File exists"
  | notADirectory => "Not a directory"
  | isADirectory => "Is a directory"
  | tooManyLinks => "Too many levels of symbolic links"

/-- The answer with its number and the path it is about. -/
def message (e : SystemError) (path : String) (code : Char → Nat := Char.toNat) : String :=
  s!"[Errno {e.number}] {e.words}: {Text.quote path code}"

end SystemError

namespace Fault

def malformedText (m : Text.Malformed) : String :=
  let reason := match m.reason with
    | .endOfData => "unexpected end of data"
    | .startByte => "invalid start byte"
    | .continuationByte => "invalid continuation byte"
  let place :=
    if m.first = m.last then
      s!"byte 0x{String.ofList (Text.hex 2 m.byte.toNat)} in position {m.first}"
    else s!"bytes in position {m.first}-{m.last}"
  s!"'utf-8' codec can't decode {place}: {reason}"

def unencodableText (e : Text.Unencodable) : String :=
  let place :=
    if e.first = e.last then
      let code := if e.code < 0x100 then 'x' :: Text.hex 2 e.code
        else if e.code < 0x10000 then 'u' :: Text.hex 4 e.code
        else 'U' :: Text.hex 8 e.code
      s!"character '\\{String.ofList code}' in position {e.first}"
    else s!"characters in position {e.first}-{e.last}"
  s!"'{e.codec}' codec can't encode {place}: {e.reason}"

def digitLimit : String :=
  s!"Exceeds the limit ({Text.maxDigits} digits) for integer string conversion"

def digitAdvice : String := "use sys.set_int_max_str_digits() to increase the limit"

/-- The text of a fault. A text that is no number is shown up to two hundred characters. -/
def message (f : Fault) (code : Char → Nat := Char.toNat) : String :=
  match f with
  | system error path => error.message path code
  | nullInPath => "embedded null byte"
  | linkLoop path => s!"Symlink loop from {Text.quote path code}"
  | malformedUtf8 m => malformedText m
  | unencodable e => unencodableText e
  | calendar error => error.message
  | notANumber base text =>
    let shown := String.ofList ((Text.quoted text.toList code).take 200)
    s!"invalid literal for int() with base {base}: {shown}"
  | notAFloat text => s!"could not convert string to float: {Text.quote text code}"
  | emptyNumber => "string index out of range"
  | longDigits digits => s!"{digitLimit}: value has {digits} digits; {digitAdvice}"
  | longNumber => s!"{digitLimit}; {digitAdvice}"
  | hugeFactor => "int too large to convert to float"
  | notATruth text => Text.quote text code
  | notATimestamp => "'NoneType' object has no attribute 'groupdict'"
  | codePoint => "chr() arg not in range(0x110000)"
  | hugeCodePoint => "Python int too large to convert to C int"
  | notText found => s!"expected string or bytes-like object, got '{found}'"
  | notHashable found => s!"unhashable type: '{found}'"
  | notIterable found => s!"'{found}' object is not iterable"
  | noMember found member => s!"'{found}' object has no attribute '{member}'"
  | reservedVariable name => s!"Template.render() got multiple values for argument '{name}'"
  | exhausted => "maximum recursion depth exceeded"

end Fault

end Scaffold
