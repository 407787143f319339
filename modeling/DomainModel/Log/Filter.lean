import DomainModel.Log.Event
import DomainModel.Text.Ascii
import DomainModel.Text.Blank
import DomainModel.Text.Word

/-! Log filters: directives with commas between them. A directive is a level, a target, or a target
with a level; it may also name a span and a field in brackets. Of the directives that cover an event
the most specific one decides, and an event that none covers is not logged. Events stand in no span,
so that a directive for a span covers none. -/

namespace DomainModel.Log

/-- The least grave level that is logged; none when nothing is. -/
abbrev Threshold := Option Level

/-- A directive for events. -/
structure Directive where
  /-- The beginning of the targets that it covers; none when it covers all. -/
  target : Option String := none
  /-- A field that the events it covers have. -/
  field : Option String := none
  threshold : Threshold
  deriving DecidableEq, Repr

/-- A filter: its directives, in order. -/
structure Filter where
  directives : List Directive
  deriving DecidableEq, Repr

/-- The thresholds in the order of their numbers. -/
def thresholds : List Threshold :=
  [none, some .error, some .warn, some .info, some .debug, some .trace]

/-- The names of thresholds, in any case. -/
def thresholdNames : List (String × Threshold) :=
  [("off", none), ("error", some .error), ("warn", some .warn), ("info", some .info), ("debug", some .debug),
    ("trace", some .trace)]

/-- The number that a text is, with a plus sign in front or not. -/
def number? (s : List Char) : Option Nat :=
  let digits := match s with
    | '+' :: rest => rest
    | _ => s
  if !digits.isEmpty && digits.all Char.isDigit then some (Text.digitsValue digits) else none

/-- The threshold that a text names or numbers. -/
def threshold? (s : List Char) : Option Threshold :=
  match number? s with
  | some n => thresholds[n]?
  | none => thresholdNames.findSome? fun (name, threshold) =>
      if Text.equalIgnoringCase name (String.ofList s) then some threshold else none

/-- The threshold that a directive states after its equals sign; everything is logged if it states
none. -/
def stated? (s : List Char) : Option Threshold :=
  let s := Text.trimChars s
  if s.isEmpty then some (some .trace) else threshold? s

/-- What stands between the brackets of a directive. -/
inductive Scope where
  /-- The name of a span, or a field together with its value: no event is in it. -/
  | span
  /-- The name of a field alone. -/
  | field (name : String)
  deriving DecidableEq, Repr

/-- The scope of a span and the text of a field. -/
def scopeOf (span field : List Char) : Scope :=
  if span.isEmpty && !field.contains '=' then .field (String.ofList field) else .span

/-- Reads a scope up to its closing bracket; gives what follows. -/
def scope? (s : List Char) : Option (Scope × List Char) :=
  let isEnd (c : Char) := c == ']' || c == '\x7b'
  let span := s.takeWhile (!isEnd ·)
  match s.dropWhile (!isEnd ·) with
  | ']' :: rest => some (.span, rest)
  | _ :: rest =>
    let field := rest.takeWhile (· != '\x7d')
    match rest.dropWhile (· != '\x7d') with
    | _ :: ']' :: rest => if field.isEmpty then none else some (scopeOf span field, rest)
    | _ => none
  | [] => none

/-- Reads the brackets and the threshold of a directive. There is no directive for events if its
scope is a span. -/
def scoped? (target : Option String) (s : List Char) : Option (Option Directive) := do
  let (scope, rest) ← scope? s
  let threshold ← match rest with
    | [] => some (some .trace)
    | '=' :: level => stated? level
    | _ => none
  match scope with
  | .span => return none
  | .field name => return some { target, field := some name, threshold }

/-- Whether a directive may begin with a character. -/
def startsDirective (c : Char) : Bool := c == '-' || c == ':' || Text.isWordChar c

/-- Reads a directive without blanks around it. A word by itself is a level if it can be. -/
def trimmedDirective? (s : List Char) : Option (Option Directive) :=
  match s with
  | [] => none
  | '[' :: rest => scoped? none rest
  | c :: _ =>
    if !startsDirective c then none
    else
      let isEnd (c : Char) := c == '=' || c == '['
      let word := String.ofList (s.takeWhile (!isEnd ·))
      match s.dropWhile (!isEnd ·) with
      | '=' :: level => (stated? level).map fun threshold => some { target := some word, threshold }
      | _ :: rest => scoped? (some word) rest
      | [] =>
        match threshold? s with
        | some threshold => some (some { threshold })
        | none => some (some { target := some word, threshold := some .trace })

/-- Reads a directive. With blanks in front of it, it can state no threshold, and a scope is
misread. -/
def directive? (s : List Char) : Option (Option Directive) :=
  let trimmed := Text.trimChars s
  if s.head?.any Text.isBlank then
    if trimmed.contains '=' then none
    else if trimmed.contains '[' then (trimmedDirective? trimmed).map fun _ => none
    else trimmedDirective? trimmed
  else trimmedDirective? trimmed

namespace Filter

/-- The filter for errors. -/
def errors : Filter := ⟨[{ threshold := some .error }]⟩

/-- Reads a filter; none when a directive is not valid. Without directives it lets errors through.
-/
def parse? (text : String) : Option Filter := do
  let parts := (Text.splitAt ',' text.toList).filter (!·.isEmpty)
  let directives ← parts.mapM directive?
  return if parts.isEmpty then errors else ⟨directives.filterMap id⟩

end Filter

namespace Directive

/-- Whether an event is covered. -/
def covers (directive : Directive) (event : Event) : Bool :=
  directive.target.all (fun target => target.toList.isPrefixOf event.target.toList) &&
    directive.field.all (fun field => event.fields.any (·.1 == field))

/-- Whether one directive decides when two cover an event and it stands after the other: if its
target is longer, or the targets are equal and the other has a field that it lacks or one that comes
later in the alphabet. -/
def overrides (later earlier : Directive) : Bool :=
  let length (directive : Directive) := directive.target.elim 0 (·.length + 1)
  if length later != length earlier then length earlier < length later
  else
    match later.field, earlier.field with
    | none, some _ => false
    | some name, some other => other ≤ name
    | _, none => true

end Directive

namespace Filter

/-- The directive that decides on an event. -/
def deciding? (filter : Filter) (event : Event) : Option Directive :=
  (filter.directives.filter (·.covers event)).foldl (fun best directive =>
    match best with
    | some earlier => if directive.overrides earlier then some directive else best
    | none => some directive) none

/-- Whether an event is logged. -/
def admits (filter : Filter) (event : Event) : Bool :=
  match filter.deciding? event with
  | some { threshold := some least, .. } => least.rank ≤ event.level.rank
  | _ => false

end Filter

end DomainModel.Log
