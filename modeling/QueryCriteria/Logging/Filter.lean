import QueryCriteria.Decimal.Numeral
import QueryCriteria.Text.Blank
import QueryCriteria.Text.Bytes
import QueryCriteria.Text.Regular
import QueryCriteria.Text.Split

/-!
Filters of events. A filter is a list of directives; of those that care about an event the most specific
one decides: the one with the longest target, and then one with a field before one without.
-/
namespace QueryCriteria.Logging

/-- How important an event is, the most important first. -/
inductive Level where
  | error
  | warn
  | info
  | debug
  | trace
deriving DecidableEq, Repr

namespace Level

def all : List Level := [.error, .warn, .info, .debug, .trace]

def name : Level → String
  | .error => "error"
  | .warn => "warn"
  | .info => "info"
  | .debug => "debug"
  | .trace => "trace"

/-- The name in capital letters. -/
def label : Level → String
  | .error => "ERROR"
  | .warn => "WARN"
  | .info => "INFO"
  | .debug => "DEBUG"
  | .trace => "TRACE"

def rank : Level → Nat
  | .error => 1
  | .warn => 2
  | .info => 3
  | .debug => 4
  | .trace => 5

end Level

/-- The least important level that passes; zero lets nothing pass. -/
structure Threshold where
  rank : Nat

namespace Threshold

def off : Threshold := ⟨0⟩

def upTo (level : Level) : Threshold := ⟨level.rank⟩

def admits (threshold : Threshold) (level : Level) : Bool :=
  level.rank ≤ threshold.rank

/-- The threshold of a name in any case, or of a number. -/
def parse? (cs : List Char) : Option Threshold :=
  let word := String.ofList (Decimal.lowerChars cs)
  if word == "off" then some off
  else
    match Level.all.find? (·.name == word) with
    | some level => some (upTo level)
    | none =>
      if cs.head? == some '-' then none
      else (Decimal.readInteger? cs).bind fun n => if n ≤ 5 then some ⟨n.toNat⟩ else none

end Threshold

/-- What is logged, apart from the time. -/
structure Event where
  level : Level
  target : String
  message : String
  /-- The fields besides the message, in order. -/
  fields : List (String × String)

/-- A field that an event must have, perhaps with a value that is a number or a regular expression. -/
structure FieldRule where
  name : String
  value : Option String

namespace FieldRule

/-- Whether a text can be the value of a rule. -/
def isValue (cs : List Char) : Bool :=
  (Decimal.readFloat? cs).isSome || Regular.isExpression cs

/-- A rule that is not empty: a name, and behind an equals sign a value; what follows a second is dropped. -/
def parse? (cs : List Char) : Option FieldRule :=
  match Text.splitChars '=' cs with
  | [] | [[]] => none
  | [name] => some ⟨String.ofList name, none⟩
  | name :: value :: _ =>
    if isValue value then some ⟨String.ofList name, some (String.ofList value)⟩ else none

end FieldRule

/-- A rule of a filter for the events of targets that begin with a text and have a certain field. -/
structure Directive where
  target : Option String
  /-- The span that an event must stand in. -/
  span : Option String
  field : Option FieldRule
  threshold : Threshold

namespace Directive

/-- The rule for everything. -/
def global (threshold : Threshold) : Directive := ⟨none, none, none, threshold⟩

/-- Whether a directive can be about events outside of spans. -/
def isStatic (directive : Directive) : Bool :=
  directive.span.isNone && directive.field.all (·.value.isNone)

def caresAbout (directive : Directive) (event : Event) : Bool :=
  directive.target.all (fun start => start.toList.isPrefixOf event.target.toList)
    && directive.field.all fun field => ("message" :: event.fields.map (·.1)).contains field.name

/-- The length of the target, none coming before all others. -/
def reach (directive : Directive) : Nat :=
  directive.target.elim 0 fun target => target.utf8ByteSize + 1

/--
Whether one directive is asked before another. Among those with equally long targets the field with the
later name goes first, and none last; of equal ones the later directive.
-/
def precedes (a b : Directive) : Bool :=
  match compare b.reach a.reach with
  | .lt => true
  | .gt => false
  | .eq =>
    match a.field, b.field with
    | some field, some other => other.name ≤ field.name
    | none, some _ => false
    | _, none => true

/-- What a directive begins with, besides an opening bracket. -/
def isStart (c : Char) : Bool :=
  c == '-' || c == ':' || c == '_' || Text.isAlphanumeric c

/-- How far a directive is read. Places are numbers of bytes. -/
inductive Progress where
  | start
  /-- A level or a target, from a place on. -/
  | word (place : Nat)
  | span (place : Nat)
  | field (place : Nat)
  /-- Behind the brace of a field. -/
  | closing
  /-- Behind a closing bracket. -/
  | closed
  | level (place : Nat)

/-- A directive while it is read. -/
structure Draft where
  target : Option String
  span : Option String
  field : Option FieldRule
  progress : Progress

/-- The next character, which stands at a place; pieces are cut out of the whole text. -/
def Draft.step? (text : List Char) (draft : Draft) (place : Nat) (c : Char) : Option Draft :=
  let cut (start : Nat) : Option String := (Text.cutBytes? start place text).map String.ofList
  let behind := place + c.utf8Size
  match draft.progress, c with
  | .start, '[' => some { draft with progress := .span behind }
  | .start, _ => if isStart c then some { draft with progress := .word place } else none
  | .word start, '=' => do return { draft with target := some (← cut start), progress := .level behind }
  | .word start, '[' => do return { draft with target := some (← cut start), progress := .span behind }
  | .span start, ']' => do return { draft with span := some (← cut start), progress := .closed }
  | .span start, '\x7b' => do
    let name ← cut start
    return { draft with span := if name = "" then none else some name, progress := .field behind }
  | .field start, '\x7d' => do
    return { draft with field := some (← FieldRule.parse? (← cut start).toList), progress := .closing }
  | .closing, ']' => some { draft with progress := .closed }
  | .closed, '=' => some { draft with progress := .level behind }
  | .word _, _ | .span _, _ | .field _, _ | .level _, _ => some draft
  | .closing, _ | .closed, _ => none

/-- The directive at the end of a text. A missing threshold lets everything pass. -/
def Draft.finish? (text : List Char) (draft : Draft) : Option Directive :=
  let everything := Threshold.upTo .trace
  match draft.progress with
  | .word start => do
    let word ← Text.dropBytes? start text
    match Threshold.parse? word with
    | some threshold => return global threshold
    | none => return ⟨some (String.ofList word), draft.span, draft.field, everything⟩
  | .level start => do
    let word ← Text.dropBytes? start text
    let threshold ← if word.isEmpty then some everything else Threshold.parse? word
    return ⟨draft.target, draft.span, draft.field, threshold⟩
  | .closed => some ⟨draft.target, draft.span, draft.field, everything⟩
  | _ => none

/--
A directive: a threshold, a target, or a target, a span, a field and a threshold together. Places are
counted without the blanks at the ends of the text, but the pieces are cut out of the text with them.
-/
def parse? (s : String) : Option Directive := do
  let read ← (Text.trimChars s.toList).foldlM
    (fun state c => do return (← state.1.step? s.toList state.2 c, state.2 + c.utf8Size))
    ((⟨none, none, none, .start⟩ : Draft), 0)
  read.1.finish? s.toList

end Directive

/-- The directives of a filter, in the order in which they were given. -/
abbrev Filter := List Directive

namespace Filter

/-- The directives between commas; without any nothing passes. -/
def parse? (s : String) : Option Filter := do
  let directives ← ((Text.split ',' s).filter (· ≠ "")).mapM Directive.parse?
  return if directives.isEmpty then [.global .off] else directives

/-- The directive that decides about an event. -/
def decisive? (filter : Filter) (event : Event) : Option Directive :=
  (filter.filter fun directive => directive.isStatic && directive.caresAbout event).foldl
    (fun best directive =>
      match best with
      | some other => if directive.precedes other then some directive else some other
      | none => some directive)
    none

def admits (filter : Filter) (event : Event) : Bool :=
  (filter.decisive? event).any fun directive => directive.threshold.admits event.level

end Filter

end QueryCriteria.Logging
