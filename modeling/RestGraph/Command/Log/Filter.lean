import RestGraph.Command.Log.Event
import RestGraph.Pattern.OfText
import RestGraph.Text.Alphanumeric
/-!
Filters of the log. A filter is a list of rules; for each event, the narrowest rule that fits it
decides whether it is shown. A rule may give the value of a field: a number, or a pattern for every
other text.
-/

set_option autoImplicit false

namespace RestGraph.Command

def withoutSign : List Char → List Char
  | '+' :: rest => rest
  | '-' :: rest => rest
  | word => word

def isExponent : List Char → Bool
  | [] => true
  | c :: rest =>
    let digits := withoutSign rest
    (c == 'e' || c == 'E') && !digits.isEmpty && digits.all Char.isDigit

def startsWithDigit (word : List Char) : Bool :=
  word.head?.any Char.isDigit

def isDecimal (word : List Char) : Bool :=
  match word.dropWhile Char.isDigit with
  | '.' :: rest =>
    (startsWithDigit word || startsWithDigit rest) && isExponent (rest.dropWhile Char.isDigit)
  | rest => startsWithDigit word && isExponent rest

/-- A number with or without a sign. The infinite number and the one that is none go by their names
in any case. -/
def isNumber (word : List Char) : Bool :=
  let magnitude := withoutSign word
  isDecimal magnitude ||
    ["inf", "infinity", "nan"].any fun name => Text.sameLetters magnitude name.toList

def isFieldValue (word : List Char) : Bool :=
  isNumber word || Pattern.isSupportedText word

abbrev Threshold := Nat

def Threshold.all : Threshold :=
  Level.trace.number

def numeral? (word : List Char) : Option Nat :=
  let digits := match word with
    | '+' :: rest => rest
    | other => other
  if digits.isEmpty || !digits.all Char.isDigit then none
  else some (digits.foldl (fun n c => n * 10 + (c.toNat - '0'.toNat)) 0)

def threshold? (word : List Char) : Option Threshold :=
  match numeral? word with
  | some n => if n ≤ Threshold.all then some n else none
  | none =>
    if Text.sameLetters word "off".toList then some 0
    else (Level.all.find? fun level => Text.sameLetters level.name.toList word).map Level.number

/-- A rule of a filter. It decides about the events whose target starts with `target` and that have
the field `field`, if one is named, and shows them up to a threshold. A rule that asks for a span
around an event decides about none, because no event of a run lies in a span. -/
structure Rule where
  target : String := ""
  field : String := ""
  inSpan : Bool := false
  threshold : Threshold := Threshold.all
  deriving DecidableEq

namespace Rule

def startsTarget (c : Char) : Bool :=
  c == '-' || c == ':' || c == '_' || Text.isAlphanumeric c

/-- Gives a rule the threshold that stands behind its sign of equality. Without a word there, the
rule shows everything. -/
def upTo? (rule : Rule) (word : List Char) : Option Rule :=
  if word.isEmpty then some { rule with threshold := Threshold.all }
  else (threshold? word).map fun threshold => { rule with threshold }

/-!
The signs that divide a part of a filter are looked for with the blanks around the part left out,
but the part is then cut at the places so found, blanks and all. So each reader below takes two
texts: the signs, and the text to cut.
-/

def afterSpan? (rule : Rule) (signs text : List Char) : Option Rule :=
  match signs with
  | [] => some rule
  | '=' :: _ => rule.upTo? (text.drop 1)
  | _ => none

/-- Reads a field after its brace. A field with a value is looked for in spans only. The value ends
where a second sign of equality stands; a field without one has the empty value. -/
def field? (rule : Rule) (signs text : List Char) : Option Rule :=
  let size := (signs.takeWhile (· != '\x7d')).length
  let field := text.take size
  let name := field.takeWhile (· != '=')
  let value := (field.drop (name.length + 1)).takeWhile (· != '=')
  if field.isEmpty || !isFieldValue value then none
  else
    match signs.drop size with
    | '\x7d' :: ']' :: more =>
      { rule with
        field := String.ofList name
        inSpan := rule.inSpan || name.length < field.length }.afterSpan? more
          (text.drop (size + 2))
    | _ => none

/-- Reads a span after its bracket: a name, a field between braces, or both. -/
def span? (rule : Rule) (signs text : List Char) : Option Rule :=
  let size := (signs.takeWhile fun c => c != ']' && c != '\x7b').length
  let rest := text.drop (size + 1)
  match signs.drop size with
  | ']' :: more => { rule with inSpan := true }.afterSpan? more rest
  | '\x7b' :: more => { rule with inSpan := !(text.take size).isEmpty }.field? more rest
  | _ => none

def target? (signs text : List Char) : Option Rule :=
  let size := (signs.takeWhile fun c => c != '=' && c != '[').length
  let target := String.ofList (text.take size)
  match signs.drop size with
  | '=' :: _ => { target : Rule }.upTo? (text.drop (size + 1))
  | '[' :: more => { target : Rule }.span? more (text.drop (size + 1))
  | _ =>
    match threshold? text with
    | some threshold => some { threshold }
    | none => some { target := String.ofList text }

def parse? (part : List Char) : Option Rule :=
  match Text.trimChars part with
  | [] => none
  | '[' :: more => ({} : Rule).span? more (part.drop 1)
  | c :: more => if startsTarget c then target? (c :: more) part else none

def fits (rule : Rule) (event : Event) : Bool :=
  !rule.inSpan && rule.target.toList.isPrefixOf event.target.toList &&
    (rule.field == "" || event.hasField rule.field)

/-- A rule is at least as narrow as another one: its target is longer, or it is as long and the name
of its field comes no earlier. -/
def isAsNarrow (rule other : Rule) : Bool :=
  if rule.target.utf8ByteSize = other.target.utf8ByteSize then !decide (rule.field < other.field)
  else decide (other.target.utf8ByteSize < rule.target.utf8ByteSize)

end Rule

abbrev Filter := List Rule

namespace Filter

/-- Reads a filter: rules with commas between them. A filter that cannot be read shows warnings, and
one without rules shows errors. -/
def ofText (text : String) : Filter :=
  match ((text.toList.splitOn ',').filter (!·.isEmpty)).mapM Rule.parse? with
  | none => [{ threshold := Level.warn.number }]
  | some [] => [{ threshold := Level.error.number }]
  | some rules => rules

/-- The rule that decides about an event: the narrowest that fits it, the later one of two. -/
def ruleFor? (filter : Filter) (event : Event) : Option Rule :=
  (filter.filter (·.fits event)).foldl
    (fun best rule =>
      match best with
      | none => some rule
      | some earlier => if rule.isAsNarrow earlier then some rule else some earlier)
    none

def shows (filter : Filter) (event : Event) : Bool :=
  match filter.ruleFor? event with
  | some rule => decide (event.level.number ≤ rule.threshold)
  | none => false

/-- The filter of a run: the given one, or else one for the number of times that more output was
asked for. Without either there is no log. -/
def select (given : Option String) (verbosity : Nat) : Option Filter :=
  match given, verbosity with
  | some text, _ => some (ofText text)
  | none, 0 => none
  | none, 1 => some (ofText "warn,api2gql=info,api2gql_gen=info,api2gql_define=info")
  | none, 2 => some (ofText "info,api2gql=debug,api2gql_gen=debug,api2gql_define=debug")
  | none, _ => some (ofText "debug,api2gql=trace,api2gql_gen=trace,api2gql_define=trace")

end Filter

end RestGraph.Command
